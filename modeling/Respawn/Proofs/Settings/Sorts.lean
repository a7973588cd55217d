import Respawn.Proofs.Settings.Pointwise

/-!
# Sorts of overridden settings

A default is replaced by what the value of an entry converts to, and that is not always of its sort: a
text takes any value as it is, a list takes any value but a text, and a number takes a truth value.
Every other value is brought to the sort of the default or is refused.

* `Foreign`: the values that are taken as they are though they are of another sort;
* `convert_hasSort`: every other value is brought to its sort;
* **`sort_kept_iff`**: which settings are of their sort once a file of overrides was loaded.
-/

namespace Respawn.Settings

open EnvFile (Bindings)

/-! ## 1. One value -/

/-- Values that take the place of a default as they are though they are of another sort. -/
inductive Foreign : Value.Kind → Value → Prop
  | truth {kind : Value.Kind} (b : Bool) (h : kind = .int ∨ kind = .real) : Foreign kind (.bool b)
  | noText {v : Value} (h : v.kind ≠ .text) : Foreign .text v
  | noWords {v : Value} (ht : v.kind ≠ .text) (hl : ¬ HasSort .list v) : Foreign .list v

theorem Foreign.not_hasSort {kind : Value.Kind} {v : Value} (h : Foreign kind v) :
    ¬ HasSort kind v := by
  intro sort
  cases h with
  | truth b h => rcases h with rfl | rfl <;> cases sort.kind_eq
  | noText h => exact h sort.kind_eq
  | noWords _ hl => exact hl sort

theorem Foreign.convert_eq {old v : Value} (h : Foreign old.kind v) : convert old v = .ok v := by
  generalize hk : old.kind = kind at h
  cases h with
  | truth b h =>
    rcases h with rfl | rfl
    · cases old <;> cases hk
      rfl
    · cases old <;> cases hk
      rfl
  | noText _ =>
    cases old <;> cases hk
    rfl
  | noWords ht _ =>
    cases old <;> cases hk
    cases v <;> first | rfl | exact absurd rfl ht

theorem convert_int (i : Int) {v : Value} (h : v.kind ≠ .bool) :
    convert (.int i) v = (toWhole v).map .int := by
  cases v <;> first | rfl | exact absurd rfl h

theorem convert_real (x : Binary64) {v : Value} (h : v.kind ≠ .bool) :
    convert (.real x) v = (toReal v).map .real := by
  cases v <;> first | rfl | exact absurd rfl h

theorem convert_list (items : List Value) {v : Value} (h : v.kind ≠ .text) :
    convert (.list items) v = .ok v := by
  cases v <;> first | rfl | exact absurd rfl h

/-- A truth value is foreign to a number. -/
theorem not_bool_of_native {kind : Value.Kind} {v : Value} (hk : kind = .int ∨ kind = .real)
    (native : ¬ Foreign kind v) : v.kind ≠ .bool := by
  intro hb
  cases v <;> cases hb
  exact native (.truth _ hk)

/-- **What is not foreign is brought to the sort of the default.** -/
theorem convert_hasSort {src : Source} (hs : src ∈ sources) {old v w : Value}
    (hk : old.kind = src.kind) (h : convert old v = .ok w) (native : ¬ Foreign src.kind v) :
    HasSort src.kind w := by
  have kind := Source.kind_cases hs
  generalize src.kind = kind at hk kind native ⊢
  rcases kind with rfl | rfl | rfl | rfl | rfl
  · cases old <;> cases hk
    by_cases ht : v.kind = .text
    · cases v <;> cases ht
      obtain ⟨words, _, rfl⟩ := map_eq_ok.1 h
      exact hasSort_listOfWords words
    · cases (convert_list _ ht).symm.trans h
      by_contra hl
      exact native (.noWords ht hl)
  · cases old <;> cases hk
    cases h
    by_contra hl
    exact native (.noText fun ht => hl (.of_kind ht nofun))
  · cases old <;> cases hk
    rw [convert_int _ (not_bool_of_native (.inl rfl) native)] at h
    obtain ⟨i, _, rfl⟩ := map_eq_ok.1 h
    exact .of_kind rfl nofun
  · cases old <;> cases hk
    rw [convert_real _ (not_bool_of_native (.inr rfl) native)] at h
    obtain ⟨x, _, rfl⟩ := map_eq_ok.1 h
    exact .of_kind rfl nofun
  · cases old <;> cases hk
    rw [convert_bool] at h
    cases h
    exact .of_kind rfl nofun

/-! ## 2. Settings under overrides -/

theorem setting_ne_place : ∀ src ∈ sources, src.setting ≠ "OVERRIDES_JSON_PATH" := by decide

theorem get?_pointed (module : Settings) (given : Option Path) {name : String}
    (h : name ≠ "OVERRIDES_JSON_PATH") :
    Table.get? (pointed module given) name = Table.get? (ofModule module) name := by
  cases given with
  | none => rfl
  | some p => exact Table.get?_put_of_ne _ h _

/-- Where settings were loaded, their file of overrides was read. -/
theorem override_reads {s : Settings} {cwd : Path} {t : FileTree} {u : Settings}
    (h : (override s cwd t).result = .ok u) :
    ∃ p reading, overridesPath s = .ok p ∧ readOverrides cwd t p = .ok reading := by
  unfold override at h
  cases hp : overridesPath s with
  | error f => simp [hp] at h
  | ok p =>
    cases hr : readOverrides cwd t p with
    | error f => simp [hp, hr] at h
    | ok reading => exact ⟨p, reading, rfl, hr⟩

/-- An entry for a setting that is of its sort leaves one of its sort, or is foreign and is taken. -/
theorem mergedValue_sort {s : Settings} (hs : Governed s) {src : Source} (hsrc : src ∈ sources)
    {old : Value} (held : Table.get? s src.setting = some old) (sort : HasSort src.kind old)
    (entries : Table Value) : ∃ v, mergedValue s entries src.setting = some v ∧
      (HasSort src.kind v ↔ ¬ ∃ w, entries.get? src.setting = some w ∧ Foreign src.kind w) ∧
      ∀ w, entries.get? src.setting = some w → Foreign src.kind w → v = w := by
  have listed : src.setting ∈ modifiable :=
    modifiable_eq ▸ List.mem_map_of_mem (Source.mem_sorts hsrc)
  have attempted (w : Value) : attempt s src.setting w = some (convert old w) := by
    simp only [hs.attempt_eq, conversion, if_pos listed, held, Option.map_some]
  cases he : entries.get? src.setting with
  | none =>
    refine ⟨old, by simp [mergedValue, he, held], by simpa using sort, ?_⟩
    rintro _ ⟨⟩
  | some w =>
    by_cases foreign : Foreign src.kind w
    · have taken : convert old w = .ok w := Foreign.convert_eq (sort.kind_eq ▸ foreign)
      refine ⟨w, by simp [mergedValue, he, attempted, taken], ?_, ?_⟩
      · exact iff_of_false foreign.not_hasSort fun none => none ⟨w, rfl, foreign⟩
      · rintro _ ⟨⟩ _
        rfl
    · have native : ¬ ∃ w', some w = some w' ∧ Foreign src.kind w' := by
        rintro ⟨_, ⟨⟩, h⟩
        exact foreign h
      have vacuous (v : Value) : ∀ w', some w = some w' → Foreign src.kind w' → v = w' := by
        rintro _ ⟨⟩ h
        exact absurd h foreign
      cases hc : convert old w with
      | ok v =>
        have brought := convert_hasSort hsrc sort.kind_eq hc foreign
        exact ⟨v, by simp [mergedValue, he, attempted, hc], iff_of_true brought native, vacuous v⟩
      | error f =>
        have kept : mergedValue s entries src.setting = some old := by
          simp [mergedValue, he, attempted, hc, held]
        exact ⟨old, kept, iff_of_true sort native, vacuous old⟩

/-- **Which settings are of their sort once a file of overrides was loaded.** Every setting that may
    be changed holds a value. It is of the sort of its default, a list being one of texts, unless its
    own entry has a foreign value, and then it is that value. -/
theorem sort_kept_iff {env : Bindings} {home : Path} {tree : FileTree} {module : Settings}
    (hm : ofEnvironment env home tree = .ok module) (given : Option Path) {cwd : Path} {t : FileTree}
    {u : Settings} (hu : (merged module (given.map .path) cwd t).result = .ok u) :
    ∃ p reading, overridesPath (pointed module given) = .ok p ∧
      readOverrides cwd t p = .ok reading ∧ ∀ src ∈ sources, ∃ v,
        Table.get? u src.setting = some v ∧
        (HasSort src.kind v ↔
          ¬ ∃ w, reading.table.get? src.setting = some w ∧ Foreign src.kind w) ∧
        ∀ w, reading.table.get? src.setting = some w → Foreign src.kind w → v = w := by
  rw [merged_eq] at hu
  obtain ⟨p, reading, hp, hr⟩ := override_reads hu
  refine ⟨p, reading, hp, hr, fun src hs => ?_⟩
  have stems := stems_ofEnvironment hm
  have governed := ((standard_ofEnvironment hm).pointed given).toGoverned
  obtain ⟨old, held, sort⟩ := stems.sort hs
  have kept : Table.get? (pointed module given) src.setting = some old := by
    rw [get?_pointed module given (setting_ne_place src hs), stems.ofModule_eq, held]
  rw [governed.ruled.override_settles hp hr hu (setting_ne_moduleName src hs)]
  exact mergedValue_sort governed hs kept sort reading.table

/-! ## 3. A number for a command -/

/-- A command that is a number, a port that is a truth value, and a port that is a text. -/
def crossed : String :=
  "\x7b\"BUILD_COMMAND\": 5, \"PRIMARY_PORT\": true, \"REPLICA_PORT\": \"7\"\x7d"

def crossedEntries : Table Value :=
  [("BUILD_COMMAND", .int 5), ("PRIMARY_PORT", .bool true), ("REPLICA_PORT", .text "7")]

/-- A number is no command. -/
theorem foreign_number (i : Int) : Foreign .list (.int i) :=
  .noWords nofun fun sort => nomatch sort.kind_eq

theorem inRange_crossed : InRange crossedEntries := by
  intro e _ v hv old _ overflows
  simp only [crossedEntries, List.mem_cons, Prod.mk.injEq, List.not_mem_nil, or_false] at hv
  rcases hv with ⟨_, rfl⟩ | ⟨_, rfl⟩ | ⟨_, rfl⟩
  · cases overflows with
    | huge x h => cases h
  · cases overflows
  · cases overflows

/-- The command is a number and the one port a truth value; the other port is a number. -/
theorem sort_kept_iff_crossed : ∃ module u, ofEnvironment [] .top .empty = .ok module ∧
    (merged module (some (.path note)) .top (desk crossed)).result = .ok u ∧
      Table.get? u "BUILD_COMMAND" = some (.int 5) ∧
      Table.get? u "PRIMARY_PORT" = some (.bool true) ∧
      ∃ v, Table.get? u "REPLICA_PORT" = some v ∧ HasSort .int v := by
  obtain ⟨module, hm⟩ := ofEnvironment_nil .empty
  have hp : overridesPath (pointed module (some note)) = .ok note := by
    simp [overridesPath, get, pointed]
  have hr : readOverrides .top (desk crossed) note = .ok (.entries crossedEntries) :=
    readOverrides_desk rfl rfl rfl
  have standard := (standard_ofEnvironment hm).pointed (some note)
  obtain ⟨u, hu⟩ := (standard.toGoverned.ruled.override_ok_iff hp hr).2
    fun _ _ he => standard.answerable inRange_crossed he
  have loaded : (merged module ((some note).map .path) .top (desk crossed)).result = .ok u := by
    rw [merged_eq, hu]
  obtain ⟨p, reading, hp', hr', sorts⟩ := sort_kept_iff hm (some note) loaded
  cases hp.symm.trans hp'
  cases hr.symm.trans hr'
  have source (i : Nat) (hi : i < sources.length) : sources[i] ∈ sources := List.getElem_mem hi
  refine ⟨module, u, hm, loaded, ?_, ?_, ?_⟩
  · obtain ⟨v, held, -, taken⟩ := sorts _ (source 0 (by decide))
    rw [← taken (.int 5) rfl (foreign_number 5)]
    exact held
  · obtain ⟨v, held, -, taken⟩ := sorts _ (source 3 (by decide))
    rw [← taken (.bool true) rfl (.truth true (.inl rfl))]
    exact held
  · obtain ⟨v, held, sort, -⟩ := sorts _ (source 4 (by decide))
    refine ⟨v, held, sort.2 ?_⟩
    rintro ⟨w, ⟨⟩, foreign⟩
    cases foreign

end Respawn.Settings
