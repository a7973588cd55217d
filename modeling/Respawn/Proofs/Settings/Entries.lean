import Respawn.Proofs.Settings.Merge
import Respawn.Proofs.Settings.Sources

/-!
# Entries of a file of overrides

An entry is answered by one record, and it settles its own name only: with the value that it
converts to, or with what the name held before. Only a number out of the range of the sort that it
is brought to is not answered but ends the loading.

* `overflows_iff`: of all values that do not convert, only those out of range are not tolerated;
* `standard_ofEnvironment`: the sorts of the settings that may be changed;
* `Governed.ruled`: over such settings each name is settled by its own entry;
* `applyAll_cases`: all entries, each by its own name.
-/

namespace Respawn.Settings

open EnvFile (Bindings)

/-! ## 1. Values that do not convert -/

/-- A number out of the range of the sort it is brought to: an infinite one has no whole part, and a
    whole one may lie beyond the real ones. -/
inductive Overflows : Value → Value → Prop
  | infinite (i : Int) (negative : Bool) : Overflows (.int i) (.real (.infinite negative))
  | huge (x : Binary64) {i : Int} {negative : Bool} (h : Binary64.ofInt i = .infinite negative) :
      Overflows (.real x) (.int i)

theorem isConversionFault_of_value {f : Fault} (h : f.isValueFault = true) :
    isConversionFault f = true := by simp [isConversionFault, h]

theorem toWhole_fault {v : Value} {f : Fault} (h : toWhole v = .error f) (i : Int) :
    isConversionFault f = true ∨ Overflows (.int i) v := by
  unfold toWhole at h
  split at h
  · cases h
  · cases h
  · rename_i x
    cases x with
    | nan => cases h; exact .inl rfl
    | infinite negative => exact .inr (.infinite i negative)
    | finite negative significand exponent => cases h
  · exact .inl (isConversionFault_of_value (readWhole_fault h))
  · cases h; exact .inl rfl

theorem toReal_fault {v : Value} {f : Fault} (h : toReal v = .error f) (x : Binary64) :
    isConversionFault f = true ∨ Overflows (.real x) v := by
  unfold toReal at h
  split at h
  · cases h
  · split at h
    · rename_i huge
      exact .inr (.huge x huge)
    · cases h
  · cases h
  · exact .inl (isConversionFault_of_value (readReal_fault h))
  · cases h; exact .inl rfl

/-- **Of all values that do not convert, only a number out of range is not tolerated.** -/
theorem overflows_iff (old v : Value) :
    Overflows old v ↔ ∃ f, convert old v = .error f ∧ isConversionFault f = false := by
  constructor
  · intro h
    cases h with
    | infinite i negative => exact ⟨.infiniteWhole, rfl, rfl⟩
    | huge x h => exact ⟨.tooLargeReal, by simp [convert, toReal, h, Except.map], rfl⟩
  · rintro ⟨f, h, hf⟩
    have tolerated : ¬ isConversionFault f = true := by simp [hf]
    unfold convert at h
    split at h
    · unfold toPath at h
      split at h <;> cases h
      exact absurd rfl tolerated
    · exact absurd (isConversionFault_of_value (readWords_fault (map_eq_error.1 h))) tolerated
    · cases h
    · cases h
    · cases h
    · exact (toWhole_fault (map_eq_error.1 h) _).resolve_left tolerated
    · exact (toReal_fault (map_eq_error.1 h) _).resolve_left tolerated
    · cases h

/-! ## 2. The default settings -/

/-- The sorts of the settings that may be changed. -/
def sorts : List (String × Value.Kind) :=
  [("BUILD_COMMAND", .list), ("ARGS_SEPARATOR", .text), ("PRIMARY_HOST", .text),
    ("PRIMARY_PORT", .int), ("REPLICA_PORT", .int), ("WATCH_GLOB", .text),
    ("DEBOUNCE_SECONDS", .real), ("STARTUP_CHECK_SECONDS", .real),
    ("GRACEFUL_SHUTDOWN_TIMEOUT", .real), ("CAPTURE_CHILD_OUTPUT", .bool)]

theorem modifiable_eq : modifiable = sorts.map (·.1) := rfl

/-- Settings over which entries are applied: they say which names may be changed, hold a value for
    each of these, and convert by the rules. -/
structure Governed (s : Settings) : Prop where
  listed : Table.get? s "MODIFIABLE_SETTINGS" = some (.set modifiable)
  plain : Table.get? s "_coerce" = none
  there : ∀ name ∈ modifiable, ∃ old, Table.get? s name = some old

/-- Settings with the sorts of the defaults. -/
structure Standard (s : Settings) : Prop extends Governed s where
  sort : ∀ e ∈ sorts, ∃ old, Table.get? s e.1 = some old ∧ old.kind = e.2

theorem sources_sorts : sources.map (fun src => (src.setting, src.kind)) = sorts := rfl

theorem Source.mem_sorts {src : Source} (h : src ∈ sources) : (src.setting, src.kind) ∈ sorts :=
  sources_sorts ▸ List.mem_map_of_mem h

theorem exists_source {e : String × Value.Kind} (h : e ∈ sorts) :
    ∃ src ∈ sources, (src.setting, src.kind) = e := List.mem_map.1 (sources_sorts ▸ h)

section OfEnvironment

variable {env : Bindings} {home : Path} {tree : FileTree} {module : Settings}

/-- The defaults hold a value of its sort for every setting that may be changed. -/
theorem Stems.standard (h : Stems env home tree module) : Standard module := by
  have sort : ∀ e ∈ sorts, ∃ old, Table.get? module e.1 = some old ∧ old.kind = e.2 := by
    intro e he
    obtain ⟨src, hs, rfl⟩ := exists_source he
    obtain ⟨old, ho, sort⟩ := h.sort hs
    exact ⟨old, ho, sort.kind_eq⟩
  refine ⟨⟨h.constant ("MODIFIABLE_SETTINGS", _) (by simp [constants]), ?_, fun name hn => ?_⟩, sort⟩
  · rw [Table.get?_eq_none_iff, h.names]
    decide
  · obtain ⟨e, he, rfl⟩ := List.mem_map.1 (modifiable_eq ▸ hn)
    obtain ⟨old, ho, _⟩ := sort e he
    exact ⟨old, ho⟩

theorem standard_ofEnvironment (h : ofEnvironment env home tree = .ok module) :
    Standard (ofModule module) := by
  have stems := stems_ofEnvironment h
  rw [stems.ofModule_eq]
  exact stems.standard

end OfEnvironment

section Put

variable {s : Settings} {name : String} {v : Value}

theorem Governed.put (h : Governed s) (hl : name ≠ "MODIFIABLE_SETTINGS") (hc : name ≠ "_coerce") :
    Governed (Table.put s name v) where
  listed := (Table.get?_put_of_ne s (Ne.symm hl) v).trans h.listed
  plain := (Table.get?_put_of_ne s (Ne.symm hc) v).trans h.plain
  there other ho := by
    rw [Table.get?_put]
    split
    · exact ⟨v, rfl⟩
    · exact h.there other ho

theorem Standard.put (h : Standard s) (hl : name ≠ "MODIFIABLE_SETTINGS") (hc : name ≠ "_coerce")
    (hn : name ∉ modifiable) : Standard (Table.put s name v) where
  toGoverned := h.toGoverned.put hl hc
  sort e he := by
    have other : e.1 ≠ name := fun same => hn (same ▸ modifiable_eq ▸ List.mem_map_of_mem he)
    rw [Table.get?_put_of_ne s other]
    exact h.sort e he

end Put

/-! ## 3. Entries -/

/-- What converting the value of an entry comes to, if its setting may be changed. -/
def conversion (s : Settings) (name : String) (v : Value) : Option (Except Fault Value) :=
  if name ∈ modifiable then (Table.get? s name).map fun old => convert old v else none

/-- The record that answers an entry. -/
def reply (s : Settings) (name : String) (v : Value) : Log.Record :=
  match conversion s name v with
  | some (.ok w) => takenRecord name w
  | some (.error f) => unconvertedRecord name v f
  | none => if answersTo s name then forbiddenRecord name else unknownRecord name

/-- The value of a name once all entries were answered: what its own entry converts to, or what it
    was. -/
def settled (s : Settings) (entries : Table Value) (name : String) : Option Value :=
  match (entries.get? name).bind (conversion s name) with
  | some (.ok w) => some w
  | _ => Table.get? s name

theorem mem_of_conversion {s : Settings} {name : String} {v : Value} {r : Except Fault Value}
    (h : conversion s name v = some r) : name ∈ modifiable := by
  by_contra hm
  simp [conversion, hm] at h

/-- A setting that may be changed converts by the sort it is listed with. -/
theorem Standard.conversion_eq {s : Settings} (hs : Standard s) {name : String} {kind : Value.Kind}
    (hn : (name, kind) ∈ sorts) :
    ∃ old : Value, old.kind = kind ∧ ∀ v, conversion s name v = some (convert old v) := by
  obtain ⟨old, ho, hk⟩ := hs.sort _ hn
  have hm : name ∈ modifiable := modifiable_eq ▸ List.mem_map_of_mem hn
  exact ⟨old, hk, fun v => by simp only [conversion, if_pos hm, ho, Option.map_some]⟩

/-- Whether an entry leaves it at a record, whatever comes of its conversion. -/
def Tolerated (s : Settings) (name : String) (v : Value) : Prop :=
  ∀ f, conversion s name v = some (.error f) → isConversionFault f = true

section Governed

variable {s : Settings}

theorem Governed.lists_eq (h : Governed s) (name : String) :
    lists s name = modifiable.contains name := by
  simp [lists, allows, (get_eq_ok_iff _ _ _).2 h.listed, member]

theorem Governed.ruled (h : Governed s) : Ruled s where
  container name := ⟨modifiable.contains name, by
    simp [allows, (get_eq_ok_iff _ _ _).2 h.listed, member]⟩
  upper name hl := List.all_eq_true.1 modifiable_isUpper name (by simpa [h.lists_eq] using hl)
  itself := by rw [h.lists_eq]; decide
  plain := h.plain

theorem Governed.attempt_eq (h : Governed s) (name : String) :
    attempt s name = conversion s name := by
  funext v
  simp [attempt, conversion, h.lists_eq]

theorem Governed.answer_eq (h : Governed s) (name : String) (v : Value) :
    answer s name v = reply s name v := by
  rw [answer, h.attempt_eq]
  rfl

theorem Governed.mergedValue_eq (h : Governed s) (entries : Table Value) (name : String) :
    mergedValue s entries name = settled s entries name := by
  rw [mergedValue, h.attempt_eq]
  rfl

end Governed

theorem conversion_congr {s t : Settings} {name : String} (v : Value)
    (h : Table.get? t name = Table.get? s name) : conversion t name v = conversion s name v := by
  simp only [conversion, h]

/-- **All entries: one of them ends the loading, or each is answered by its record and settles its
    own name.** -/
theorem applyAll_cases {s : Settings} (hs : Governed s) {entries : Table Value}
    (hn : entries.names.Nodup) :
    (∃ name v f, (name, v) ∈ entries ∧ conversion s name v = some (.error f) ∧
      isConversionFault f = false ∧ (applyAll s entries).result = .error f) ∨
    ((∀ name v, (name, v) ∈ entries → Tolerated s name v) ∧
      ∃ t, applyAll s entries = ⟨entries.map fun e => reply s e.1 e.2, .ok t⟩ ∧
        ∀ other, Table.get? t other = settled s entries other) := by
  simpa only [Answerable, Tolerated, hs.attempt_eq, hs.answer_eq, hs.mergedValue_eq] using
    hs.ruled.applyAll_cases hn

end Respawn.Settings
