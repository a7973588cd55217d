import Respawn.Proofs.Settings.Sorts
import Respawn.Seconds

/-!
# The settings in effect

Settings in effect hold everything that the program asks them for. What no override may change is as
the environment gave it; what one may change is of its sort, or a foreign value that was taken as it
is. Numbers stay numbers in either case, so that times and ports can always be used.

* `effective_settles`: settings in effect are those of the environment with the overrides over them;
* `fit_of_effective`: they are fit;
* `Fit.whole`, `Fit.seconds`: a port is a whole number, and a time an amount of time.
-/

namespace Respawn.Settings

open EnvFile (Bindings)

/-- Settings that the program can work with. -/
structure Fit (s : Settings) : Prop where
  base : ∃ base, Table.get? s "WATCH_BASE_DIR" = some (.path base)
  constant : ∀ e ∈ constants, Table.get? s e.1 = some e.2
  logLevel : ∃ level, Table.get? s "LOG_LEVEL" = some (.text level)
  logFile : Table.get? s "LOG_FILE_PATH" = some .null ∨
    ∃ file, Table.get? s "LOG_FILE_PATH" = some (.path file)
  source : ∀ src ∈ sources, ∃ v, Table.get? s src.setting = some v ∧
    (HasSort src.kind v ∨ Foreign src.kind v)

section Effective

variable {surroundings : Bindings} {home : Path} {tree : FileTree} {reader : EnvReader}
  {s plain : Settings}

theorem defaults_eq_ok (h : (defaults surroundings home tree reader).result = .ok plain) :
    ∃ file, (reader surroundings home tree).result = .ok file ∧
      ofEnvironment (environment surroundings file) home tree = .ok plain := by
  unfold defaults at h
  dsimp only at h
  split at h
  · cases h
  · exact ⟨_, ‹_›, h⟩

/-- Settings in effect are those of the environment, merged with what is read as overrides. -/
theorem effective_settles (h : (effective surroundings home tree reader).result = .ok s) :
    ∃ file plain entries, (reader surroundings home tree).result = .ok file ∧
      ofEnvironment (environment surroundings file) home tree = .ok plain ∧
      ∀ name, name ≠ moduleName → Table.get? s name = mergedValue plain entries name := by
  obtain ⟨plain, loaded, overridden⟩ := effective_result_eq_ok.1 h
  obtain ⟨file, hf, hp⟩ := defaults_eq_ok loaded
  obtain ⟨p, reading, place, read⟩ := override_reads overridden
  exact ⟨file, plain, reading.table, hf, hp, fun _ =>
    (stems_ofEnvironment hp).standard.toGoverned.ruled.override_settles place read overridden⟩

/-- What may not be changed is what the environment gave. -/
theorem mergedValue_of_fixed {env : Bindings} (h : ofEnvironment env home tree = .ok plain)
    (entries : Table Value) {name : String} (hm : modifiable.contains name = false) :
    mergedValue plain entries name = Table.get? plain name :=
  mergedValue_of_unlisted entries
    (((stems_ofEnvironment h).standard.toGoverned.lists_eq name).trans hm)

/-- **Settings in effect are fit.** -/
theorem fit_of_effective (h : (effective surroundings home tree reader).result = .ok s) : Fit s := by
  obtain ⟨file, plain, entries, -, hp, settles⟩ := effective_settles h
  have stems := stems_ofEnvironment hp
  have governed := stems.standard.toGoverned
  have kept {name : String} (hn : name ≠ moduleName) (hm : modifiable.contains name = false) :
      Table.get? s name = Table.get? plain name :=
    (settles name hn).trans (mergedValue_of_fixed hp entries hm)
  refine ⟨?_, fun e he => ?_, ?_, ?_, fun src hs => ?_⟩
  · obtain ⟨base, _, held⟩ := stems.base
    exact ⟨base, (kept (by decide) (by decide)).trans held⟩
  · have apart : ∀ e ∈ constants, e.1 ≠ moduleName ∧ modifiable.contains e.1 = false := by
      intro e he
      simp only [constants, List.mem_cons, List.not_mem_nil, or_false] at he
      rcases he with rfl | rfl | rfl | rfl | rfl <;> decide
    obtain ⟨hn, hm⟩ := apart e he
    exact (kept hn hm).trans (stems.constant e he)
  · obtain ⟨level, held⟩ := stems.logLevel
    exact ⟨level, (kept (by decide) (by decide)).trans held⟩
  · rw [kept (by decide) (by decide)]
    exact stems.logFile
  · obtain ⟨old, held, sort⟩ := stems.sort hs
    obtain ⟨v, merged, sorted, taken⟩ := mergedValue_sort governed hs held sort entries
    refine ⟨v, (settles _ (setting_ne_moduleName src hs)).trans merged, ?_⟩
    by_cases foreign : ∃ w, entries.get? src.setting = some w ∧ Foreign src.kind w
    · obtain ⟨w, he, hf⟩ := foreign
      exact .inr (taken w he hf ▸ hf)
    · exact .inl (sorted.2 foreign)

end Effective

section Fit

variable {s : Settings} {name : String}

theorem getSeconds_eq {v : Value} (h : get s name = .ok v) :
    s.getSeconds name = Seconds.ofValue v := by
  simp only [getSeconds, h]

theorem Fit.constant_eq (h : Fit s) {v : Value} (hn : (name, v) ∈ constants) : get s name = .ok v :=
  (get_eq_ok_iff _ _ _).2 (h.constant _ hn)

/-- Whatever may be changed is there. -/
theorem Fit.there (h : Fit s) (hn : name ∈ modifiable) : ∃ v, get s name = .ok v := by
  obtain ⟨e, he, rfl⟩ := List.mem_map.1 (modifiable_eq ▸ hn)
  obtain ⟨src, hs, rfl⟩ := exists_source he
  obtain ⟨v, held, _⟩ := h.source src hs
  exact ⟨v, (get_eq_ok_iff _ _ _).2 held⟩

/-- A setting that is a number stays one, or is a truth value. -/
theorem Fit.number (h : Fit s) {kind : Value.Kind} (hn : (name, kind) ∈ sorts)
    (hk : kind = .int ∨ kind = .real) :
    ∃ v, get s name = .ok v ∧ (v.kind = .bool ∨ v.kind = kind) := by
  obtain ⟨src, hs, same⟩ := exists_source hn
  cases same
  obtain ⟨v, held, sort | foreign⟩ := h.source src hs
  · exact ⟨v, (get_eq_ok_iff _ _ _).2 held, .inr sort.kind_eq⟩
  · refine ⟨v, (get_eq_ok_iff _ _ _).2 held, .inl ?_⟩
    rcases hk with hk | hk <;> rw [hk] at foreign <;> cases foreign <;> rfl

theorem Fit.whole (h : Fit s) (hn : (name, .int) ∈ sorts) :
    ∃ v i, get s name = .ok v ∧ toWhole v = .ok i := by
  obtain ⟨v, held, kind⟩ := h.number hn (.inl rfl)
  refine ⟨v, ?_⟩
  rcases kind with kind | kind <;> cases v <;> cases kind <;> exact ⟨_, held, rfl⟩

theorem Fit.seconds (h : Fit s) (hn : (name, .real) ∈ sorts) :
    ∃ time, s.getSeconds name = .ok time := by
  obtain ⟨v, held, kind⟩ := h.number hn (.inr rfl)
  rcases kind with kind | kind <;> cases v <;> cases kind <;> exact ⟨_, getSeconds_eq held⟩

end Fit

end Respawn.Settings
