import Respawn.Proofs.Settings.Tolerance

/-!
# Overrides by name

Under any module of defaults whose list of changeable names holds settings only, the loading of a file
of overrides comes apart into its names: a setting is settled by its own entry over its own default,
and an entry is answered by its own record.

* `Ruled.override_cases`: what a file of overrides does to settings;
* **`merged_pointwise`**: what a module of defaults comes to under a file of overrides.
-/

namespace Respawn.Settings

open EnvFile (Bindings)

/-! ## 1. What is read -/

/-- The entries that a file of overrides brings: none unless it is an object. -/
def Reading.table : Reading → Table Value
  | .entries found => found
  | .absent | .refused _ => []

theorem readEntries_nodup {p : Path} {text : List Char} {reading : Reading}
    (h : readEntries p text = .ok reading) : reading.table.names.Nodup := by
  unfold readEntries at h
  split at h <;> cases h
  · exact List.nodup_nil
  · rename_i hr
    exact Json.read_nodup hr
  · exact List.nodup_nil

/-- No name stands twice among the entries of a file of overrides. -/
theorem readOverrides_nodup {cwd p : Path} {t : FileTree} {reading : Reading}
    (h : readOverrides cwd t p = .ok reading) : reading.table.names.Nodup := by
  unfold readOverrides at h
  split at h
  · cases h
    exact List.nodup_nil
  · split at h
    · split at h <;> cases h
      exact List.nodup_nil
    · rename_i bytes _
      cases ht : fileText bytes with
      | error f => simp [ht, Except.bind] at h
      | ok text =>
        rw [ht] at h
        exact readEntries_nodup h
    · cases h
      exact List.nodup_nil

/-! ## 2. Settings under overrides -/

section Opened

variable {s : Settings}

theorem Disciplined.ofModule {module : Table Value} (h : Disciplined module) :
    Ruled (ofModule module) := by
  have list : Table.get? (Settings.ofModule module) "MODIFIABLE_SETTINGS" =
      Table.get? module "MODIFIABLE_SETTINGS" := by
    rw [get?_ofModule, if_pos (by decide)]
  have same := lists_congr list
  refine ⟨⟨fun name => ?_, fun name => ?_, ?_⟩, ?_⟩
  · obtain ⟨listed, ha⟩ := h.container name
    exact ⟨listed, by simpa only [allows, get, list] using ha⟩
  · rw [same]
    exact h.upper name
  · rw [same]
    exact h.itself
  · rw [get?_ofModule, if_neg (by decide)]

theorem Ruled.pointed {module : Settings} (h : Ruled (ofModule module)) (given : Option Path) :
    Ruled (pointed module given) := by
  cases given with
  | none => exact h
  | some p => exact h.put (by decide) (by decide) (.path p)

theorem Ruled.opened (h : Ruled s) : Ruled (opened s) := h.put (by decide) (by decide) .null

theorem lists_opened (s : Settings) (name : String) : lists (opened s) name = lists s name :=
  lists_congr (Table.get?_put_of_ne s (by decide) .null) name

theorem Ruled.unlisted (h : Ruled s) : lists s moduleName = false := by
  by_contra listed
  have upper := h.upper moduleName (by simpa using listed)
  exact absurd upper (by decide)

/-- The module of the defaults, which is held beside the settings, makes no difference to what an
    entry converts to. -/
theorem Ruled.attempt_opened (h : Ruled s) (name : String) (v : Value) :
    attempt (Settings.opened s) name v = attempt s name v := by
  by_cases own : name = moduleName
  · subst own
    simp [attempt, lists_opened, h.unlisted]
  · exact attempt_congr v (lists_opened s name) (Table.get?_put_of_ne s own .null)

/-- **A file of overrides ends the loading by one of its entries, or it settles every name by its own
    entry.** -/
theorem Ruled.override_cases (hs : Ruled s) {cwd p : Path} {t : FileTree} {reading : Reading}
    (hp : overridesPath s = .ok p) (hr : readOverrides cwd t p = .ok reading) :
    (∃ name v f, (name, v) ∈ reading.table ∧ attempt s name v = some (.error f) ∧
      isConversionFault f = false ∧ (override s cwd t).result = .error f) ∨
    ((∀ name v, (name, v) ∈ reading.table → Answerable s name v) ∧
      ∃ u, (override s cwd t).result = .ok u ∧
        ∀ name, name ≠ moduleName → Table.get? u name = mergedValue s reading.table name) := by
  cases reading with
  | absent => exact .inr ⟨by simp [Reading.table], s, by simp [override, hp, hr], fun _ _ => rfl⟩
  | refused r => exact .inr ⟨by simp [Reading.table], s, by simp [override, hp, hr], fun _ _ => rfl⟩
  | entries entries =>
    rw [override_eq hp hr]
    obtain ⟨name, v, f, he, hc, hf, ended⟩ | ⟨all, u, ended, settles⟩ :=
      hs.opened.applyAll_cases (readOverrides_nodup hr)
    · exact .inl ⟨name, v, f, he, hs.attempt_opened name v ▸ hc, hf, ended⟩
    · refine .inr ⟨fun name v he f hc => ?_, u, congrArg Loading.result ended, fun name hn => ?_⟩
      · exact all name v he f ((hs.attempt_opened name v).trans hc)
      · have kept := Table.get?_put_of_ne s hn .null
        exact (settles name).trans (mergedValue_congr (lists_opened s name) kept entries)

/-- Settings that were loaded are settled by name. -/
theorem Ruled.override_settles (hs : Ruled s) {cwd p : Path} {t : FileTree} {reading : Reading}
    (hp : overridesPath s = .ok p) (hr : readOverrides cwd t p = .ok reading) {u : Settings}
    (hu : (override s cwd t).result = .ok u) {name : String} (hn : name ≠ moduleName) :
    Table.get? u name = mergedValue s reading.table name := by
  obtain ⟨_, _, _, _, _, _, ended⟩ | ⟨_, u', ended, settles⟩ := hs.override_cases hp hr
  · cases ended.symm.trans hu
  · cases ended.symm.trans hu
    exact settles name hn

/-- A file of overrides loads exactly if each of its entries is answered. -/
theorem Ruled.override_ok_iff (hs : Ruled s) {cwd p : Path} {t : FileTree} {reading : Reading}
    (hp : overridesPath s = .ok p) (hr : readOverrides cwd t p = .ok reading) :
    (∃ u, (override s cwd t).result = .ok u) ↔
      ∀ name v, (name, v) ∈ reading.table → Answerable s name v := by
  obtain ⟨name, v, f, he, hc, hf, ended⟩ | ⟨all, u, ended, _⟩ := hs.override_cases hp hr
  · refine iff_of_false (fun ⟨u, hu⟩ => by cases ended.symm.trans hu) fun all => ?_
    simp [all name v he f hc] at hf
  · exact iff_of_true ⟨u, ended⟩ all

/-- The records of a file of overrides that loads: one for each entry, in the order of the file. -/
theorem Ruled.override_records (hs : Ruled s) {cwd p : Path} {t : FileTree} {entries : Table Value}
    (hp : overridesPath s = .ok p) (hr : readOverrides cwd t p = .ok (.entries entries))
    {u : Settings} (hu : (override s cwd t).result = .ok u) :
    (override s cwd t).records =
      loadingRecord p :: entries.map fun e => answer (Settings.opened s) e.1 e.2 := by
  have once : entries.names.Nodup := readOverrides_nodup hr
  rw [override_eq hp hr] at hu ⊢
  obtain ⟨_, _, _, _, _, _, ended⟩ | ⟨_, _, ended, _⟩ := hs.opened.applyAll_cases once
  · cases ended.symm.trans hu
  · rw [ended]

end Opened

theorem setting_ne_moduleName : ∀ src ∈ sources, src.setting ≠ moduleName := by decide

/-- Entries without a number out of the range of the sort it would be brought to. -/
def InRange (entries : Table Value) : Prop :=
  ∀ e ∈ sorts, ∀ v, (e.1, v) ∈ entries → ∀ old : Value, old.kind = e.2 → ¬ Overflows old v

/-- Entries in range are answered. -/
theorem Standard.answerable {plain : Settings} (h : Standard plain) {entries : Table Value}
    (hr : InRange entries) {name : String} {v : Value} (hv : (name, v) ∈ entries) :
    Answerable plain name v := by
  intro f failed
  rw [h.attempt_eq] at failed
  obtain ⟨⟨_, kind⟩, he, rfl⟩ := List.mem_map.1 (modifiable_eq ▸ mem_of_conversion failed)
  obtain ⟨old, hk, conversion⟩ := h.conversion_eq he
  have unconverted : convert old v = .error f := by simpa [conversion] using failed
  by_contra fatal
  exact hr _ he v hv old hk ((overflows_iff old v).2 ⟨f, unconverted, by simpa using fatal⟩)

/-! ## 3. A module of defaults under overrides -/

/-- **What a module of defaults comes to under a file of overrides that loads.**

    * Every setting has the value that its own entry converts to over its own default, or else its
      default, which for the place of the overrides is the path that was given, if one was. A setting
      that is not listed keeps its default, and no setting comes up that was not there.
    * The records are those of the entries, one for each, in the order of the file.
    * A file with the same entry for a setting gives it the same value, whatever else it holds, and a
      file with the same entries in another order loads as well and gives the same settings. -/
theorem merged_pointwise {module : Table Value} (hm : Disciplined module) (given : Option Path)
    {cwd p : Path} {t : FileTree} {entries : Table Value} {u : Settings}
    (hp : overridesPath (pointed module given) = .ok p)
    (hr : readOverrides cwd t p = .ok (.entries entries))
    (hu : (merged module (given.map .path) cwd t).result = .ok u) :
    (∀ name, name ≠ moduleName →
      Table.get? u name = mergedValue (pointed module given) entries name ∧
      (lists (pointed module given) name = false ∨ Table.get? (pointed module given) name = none →
        Table.get? u name = Table.get? (pointed module given) name)) ∧
    (merged module (given.map .path) cwd t).records =
      loadingRecord p :: entries.map (fun e => answer (opened (pointed module given)) e.1 e.2) ∧
    (∀ cwd' t' entries' u', readOverrides cwd' t' p = .ok (.entries entries') →
      (merged module (given.map .path) cwd' t').result = .ok u' →
      ∀ name, name ≠ moduleName → entries'.get? name = entries.get? name →
        Table.get? u' name = Table.get? u name) ∧
    ∀ cwd' t' entries', readOverrides cwd' t' p = .ok (.entries entries') →
      entries'.Perm entries →
      ∃ u', (merged module (given.map .path) cwd' t').result = .ok u' ∧
        ∀ name, name ≠ moduleName → Table.get? u' name = Table.get? u name := by
  have hs : Ruled (pointed module given) := hm.ofModule.pointed given
  simp only [merged_eq] at hu ⊢
  have settles := fun name (hn : name ≠ moduleName) => hs.override_settles hp hr hu hn
  refine ⟨fun name hn => ⟨settles name hn, fun kept => (settles name hn).trans ?_⟩,
    hs.override_records hp hr hu, fun cwd' t' entries' u' hr' hu' name hn same => ?_,
    fun cwd' t' entries' hr' perm => ?_⟩
  · obtain unlisted | unknown := kept
    · exact mergedValue_of_unlisted _ unlisted
    · exact (mergedValue_of_unknown _ unknown).trans unknown.symm
  · rw [settles name hn, hs.override_settles hp hr' hu' hn]
    simp only [mergedValue, Reading.table, same]
  · have all := (hs.override_ok_iff hp hr).1 ⟨u, hu⟩
    obtain ⟨u', hu'⟩ := (hs.override_ok_iff hp hr').2 fun name v he =>
      all name v (perm.mem_iff.1 he)
    refine ⟨u', hu', fun name hn => ?_⟩
    rw [settles name hn, hs.override_settles hp hr' hu' hn]
    exact mergedValue_perm _ perm (readOverrides_nodup hr') name

/-! ## 4. The settings in effect -/

section Effective

variable {surroundings : Bindings} {home : Path} {tree : FileTree} {reader : EnvReader}

theorem defaults_result {file : Table (Option String)}
    (h : (reader surroundings home tree).result = .ok file) :
    (defaults surroundings home tree reader).result =
      ofEnvironment (environment surroundings file) home tree := by
  simp only [defaults, h]

/-- Settings are in effect exactly if there are defaults and their overrides load. -/
theorem effective_result_eq_ok {u : Settings} :
    (effective surroundings home tree reader).result = .ok u ↔
      ∃ plain, (defaults surroundings home tree reader).result = .ok plain ∧
        (override plain home tree).result = .ok u := by
  unfold effective
  cases h : (defaults surroundings home tree reader).result <;> simp [h]

theorem effective_records {plain : Settings}
    (h : (defaults surroundings home tree reader).result = .ok plain) :
    (effective surroundings home tree reader).records =
      (defaults surroundings home tree reader).records ++ (override plain home tree).records := by
  simp only [effective, h]

end Effective

/-! ## 5. A module of three settings -/

/-- What lies on a desk is read where it says an object of JSON in plain characters. -/
theorem readOverrides_desk {content : String} {entries : Table Value}
    (hp : content.toList.all (·.toNat < 128) = true) (hr : content.toList.contains '\r' = false)
    (h : Json.read content.toList = .ok (.dict entries)) :
    readOverrides .top (desk content) note = .ok (.entries entries) := by
  have ha : note.isAskable = true := by simp [Path.isAskable, note]
  have ht : fileText (plainBytes content.toList) = .ok content.toList := fileText_plainBytes hp hr
  simp [readOverrides, ha, lookup_desk, ht, Except.bind, readEntries, h]

/-- Three settings, of which two may be changed. -/
def shelf : Table Value :=
  [("SIZE", .int 1), ("NAME", .text "a"), ("KEPT", .bool true),
    ("MODIFIABLE_SETTINGS", .set ["SIZE", "NAME"])]

theorem lists_shelf (name : String) : lists shelf name = ["SIZE", "NAME"].contains name := by
  simp [lists, allows, get, shelf, Table.get?, member]

theorem disciplined_shelf : Disciplined shelf where
  container name :=
    ⟨["SIZE", "NAME"].contains name, by simp [allows, get, shelf, Table.get?, member]⟩
  upper name hl := by
    obtain rfl | rfl : name = "SIZE" ∨ name = "NAME" := by simpa [lists_shelf] using hl
    · decide
    · decide
  itself := by rw [lists_shelf]; decide

/-- A size that is no number, a name, a setting that may not be changed, and two names that are no
    settings. -/
def mixed : String :=
  "\x7b\"SIZE\": \"x\", \"NAME\": \"b\", \"KEPT\": false, \"__class__\": 1, \"NEW\": 2\x7d"

def mixedEntries : Table Value :=
  [("SIZE", .text "x"), ("NAME", .text "b"), ("KEPT", .bool false), ("__class__", .int 1),
    ("NEW", .int 2)]

theorem readOverrides_mixed :
    readOverrides .top (desk mixed) note = .ok (.entries mixedEntries) :=
  readOverrides_desk rfl rfl rfl

/-- The size stays as it was, and nothing of it reaches the name; what may not be changed stays too. -/
theorem merged_pointwise_shelf : ∃ u,
    (merged shelf (some (.path note)) .top (desk mixed)).result = .ok u ∧
      Table.get? u "SIZE" = some (.int 1) ∧ Table.get? u "NAME" = some (.text "b") ∧
      Table.get? u "KEPT" = some (.bool true) ∧ Table.get? u "NEW" = none ∧
      (merged shelf (some (.path note)) .top (desk mixed)).records =
        [loadingRecord note, unconvertedRecord "SIZE" (.text "x") (.malformedInt "x"),
          takenRecord "NAME" (.text "b"), forbiddenRecord "KEPT", forbiddenRecord "__class__",
          unknownRecord "NEW"] := by
  have hp : overridesPath (pointed shelf (some note)) = .ok note := by
    simp [overridesPath, get, pointed]
  obtain ⟨u, hu⟩ : ∃ u, (merged shelf (some (.path note)) .top (desk mixed)).result = .ok u := by
    change ∃ u, (merged shelf ((some note).map .path) .top (desk mixed)).result = .ok u
    rw [merged_eq, override_eq hp readOverrides_mixed]
    exact ⟨_, rfl⟩
  obtain ⟨settles, records, -, -⟩ :=
    merged_pointwise disciplined_shelf (some note) hp readOverrides_mixed hu
  refine ⟨u, hu, ?_, ?_, ?_, ?_, records⟩
  · exact (settles "SIZE" (by decide)).1
  · exact (settles "NAME" (by decide)).1
  · exact (settles "KEPT" (by decide)).1
  · exact (settles "NEW" (by decide)).1

end Respawn.Settings
