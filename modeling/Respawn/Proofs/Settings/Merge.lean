import Mathlib.Tactic.Common
import Respawn.Settings.Overrides

/-!
# The merge of entries

Entries are applied to the very table that says which names may be changed, which names are there and
what they are converted to. As long as the list of changeable names holds settings only, and not
itself, none of the three is moved by an entry, so that every name is settled by its own entry alone.

* `Ruled.applyEntry_eq`: what one entry does;
* `Ruled.applyEntry_cases`, `Ruled.applyAll_cases`: an entry, and any number of them, ends the loading
  or is answered and settles its own name;
* `mergedValue_perm`: the order of the entries does not matter.
-/

namespace Respawn

/-! ## 1. Tables in which no name stands twice -/

namespace Table

variable {α : Type}

theorem mem_of_get? {t : Table α} {name : String} {a : α} (h : t.get? name = some a) :
    (name, a) ∈ t := by
  induction t with
  | nil => cases h
  | cons e rest ih =>
    obtain ⟨key, b⟩ := e
    rw [get?_cons] at h
    split at h
    · rename_i same
      cases h
      exact same ▸ List.mem_cons_self
    · exact List.mem_cons_of_mem _ (ih h)

theorem get?_of_mem {t : Table α} (hn : t.names.Nodup) {name : String} {a : α}
    (h : (name, a) ∈ t) : t.get? name = some a := by
  induction t with
  | nil => cases h
  | cons e rest ih =>
    obtain ⟨key, b⟩ := e
    obtain ⟨fresh, hr⟩ := List.nodup_cons.1 hn
    rw [get?_cons]
    rcases List.mem_cons.1 h with same | h
    · cases same
      exact if_pos rfl
    · have hm : name ∈ names rest := List.mem_map_of_mem h
      have differs : key ≠ name := fun same => fresh (same ▸ hm)
      rw [if_neg differs]
      exact ih hr h

theorem get?_eq_none_iff {t : Table α} {name : String} : t.get? name = none ↔ name ∉ t.names := by
  rw [← has_iff_mem_names]
  cases h : t.get? name <;> simp [has, h]

/-- **Where no name stands twice, the order of a table does not matter.** -/
theorem get?_perm {t u : Table α} (h : t.Perm u) (hn : t.names.Nodup) (name : String) :
    t.get? name = u.get? name := by
  have hu : u.names.Nodup := (h.map _).nodup_iff.1 hn
  cases ht : t.get? name with
  | some a => exact (get?_of_mem hu (h.mem_iff.1 (mem_of_get? ht))).symm
  | none =>
    rw [get?_eq_none_iff] at ht
    exact (get?_eq_none_iff.2 fun hm => ht ((h.map _).mem_iff.2 hm)).symm

/-- Where no name stands twice, an entry stands between those of other names. -/
theorem split_of_get? {t : Table α} (hn : t.names.Nodup) {name : String} {a : α}
    (h : t.get? name = some a) : ∃ before after : Table α, t = before ++ (name, a) :: after ∧
      name ∉ before.names ∧ name ∉ after.names := by
  obtain ⟨before, after, rfl⟩ := List.append_of_mem (mem_of_get? h)
  simp only [names, List.map_append, List.map_cons, List.nodup_append, List.nodup_cons] at hn
  obtain ⟨_, ⟨fresh, _⟩, apart⟩ := hn
  exact ⟨before, after, rfl, fun hm => apart name hm name List.mem_cons_self rfl, fresh⟩

end Table

namespace Settings

/-! ## 2. What a name comes to -/

/-- Whether the settings list a name as one that may be changed. -/
def lists (s : Settings) (name : String) : Bool :=
  match allows s name with
  | .ok listed => listed
  | .error _ => false

/-- What converting the value of an entry comes to, if its setting is there and listed. -/
def attempt (s : Settings) (name : String) (v : Value) : Option (Except Fault Value) :=
  if lists s name then (Table.get? s name).map fun old => convert old v else none

/-- The record that answers an entry: its value was taken or does not convert, or its name may not be
    changed or is not there. -/
def answer (s : Settings) (name : String) (v : Value) : Log.Record :=
  match attempt s name v with
  | some (.ok w) => takenRecord name w
  | some (.error f) => unconvertedRecord name v f
  | none => if answersTo s name then forbiddenRecord name else unknownRecord name

/-- The value of a name under the entries of a file: what its own entry converts to, or what it
    was. -/
def mergedValue (s : Settings) (entries : Table Value) (name : String) : Option Value :=
  match (entries.get? name).bind (attempt s name) with
  | some (.ok w) => some w
  | _ => Table.get? s name

/-- Values among which is a list of what may be changed: it holds names in capitals only, and not its
    own. -/
structure Disciplined (s : Table Value) : Prop where
  container (name) : ∃ listed, allows s name = .ok listed
  upper (name) : lists s name = true → Text.isUpperName name = true
  itself : lists s "MODIFIABLE_SETTINGS" = false

/-- Settings over which entries are applied by name: besides, they convert by the rules. -/
structure Ruled (s : Settings) : Prop extends Disciplined s where
  plain : Table.get? s "_coerce" = none

/-- Whether an entry leaves it at a record, whatever comes of its conversion. -/
def Answerable (s : Settings) (name : String) (v : Value) : Prop :=
  ∀ f, attempt s name v = some (.error f) → isConversionFault f = true

section Agreement

variable {s t : Settings} {name : String} (v : Value)

theorem lists_congr (h : Table.get? t "MODIFIABLE_SETTINGS" = Table.get? s "MODIFIABLE_SETTINGS")
    (name : String) : lists t name = lists s name := by
  simp only [lists, allows, get, h]

theorem attempt_congr (hl : lists t name = lists s name)
    (h : Table.get? t name = Table.get? s name) : attempt t name v = attempt s name v := by
  simp only [attempt, hl, h]

theorem answer_congr (hl : lists t name = lists s name)
    (h : Table.get? t name = Table.get? s name) : answer t name v = answer s name v := by
  have known : answersTo t name = answersTo s name := by simp only [answersTo, Table.has, h]
  simp only [answer, attempt_congr v hl h, known]

theorem mergedValue_congr (hl : lists t name = lists s name)
    (h : Table.get? t name = Table.get? s name) (entries : Table Value) :
    mergedValue t entries name = mergedValue s entries name := by
  have hc : attempt t name = attempt s name := funext fun v => attempt_congr v hl h
  simp only [mergedValue, h, hc]

/-- A name without an entry keeps its value. -/
theorem mergedValue_of_absent (s : Settings) {entries : Table Value} (h : name ∉ entries.names) :
    mergedValue s entries name = Table.get? s name := by
  simp only [mergedValue, Table.get?_eq_none_iff.2 h, Option.bind_none]

/-- A name that is not listed keeps its value. -/
theorem mergedValue_of_unlisted (entries : Table Value) (h : lists s name = false) :
    mergedValue s entries name = Table.get? s name := by
  have none : attempt s name = fun _ => none := funext fun v => by simp [attempt, h]
  simp only [mergedValue, none, Option.bind_fun_none]

/-- No name comes up that was not there. -/
theorem mergedValue_of_unknown (entries : Table Value) (h : Table.get? s name = none) :
    mergedValue s entries name = none := by
  have none : attempt s name = fun _ => none := funext fun v => by simp [attempt, h]
  simp only [mergedValue, none, Option.bind_fun_none, h]

theorem mergedValue_single (s : Settings) {name other : String} (h : other ≠ name) (v : Value) :
    mergedValue s [(name, v)] other = Table.get? s other :=
  mergedValue_of_absent s (by simp [Table.names, h])

/-- An entry that converts to nothing settles nothing. -/
theorem mergedValue_untouched (h : ∀ w, attempt s name v ≠ some (.ok w)) (other : String) :
    mergedValue s [(name, v)] other = Table.get? s other := by
  by_cases same : other = name
  · -- `h` shuts out the branch of a value that converts
    subst same
    simp only [mergedValue, Table.get?_cons, if_true, Option.bind_some]
  · exact mergedValue_single s same v

/-- The entries after the first one settle what it left. -/
theorem mergedValue_cons {rest : Table Value} (hn : name ∉ rest.names)
    (hl : ∀ other, lists t other = lists s other)
    (ht : ∀ other, Table.get? t other = mergedValue s [(name, v)] other) (other : String) :
    mergedValue t rest other = mergedValue s ((name, v) :: rest) other := by
  by_cases same : other = name
  · subst same
    rw [mergedValue_of_absent t hn, ht]
    simp only [mergedValue, Table.get?_cons, if_true]
  · have kept : Table.get? t other = Table.get? s other :=
      (ht other).trans (mergedValue_single s same v)
    rw [mergedValue_congr (hl other) kept]
    simp only [mergedValue, Table.get?_cons, if_neg (Ne.symm same)]

/-- **The order of the entries does not matter.** -/
theorem mergedValue_perm (s : Settings) {entries entries' : Table Value}
    (h : entries.Perm entries') (hn : entries.names.Nodup) (name : String) :
    mergedValue s entries name = mergedValue s entries' name := by
  simp only [mergedValue, Table.get?_perm h hn name]

end Agreement

/-! ## 3. Entries -/

theorem not_upper_of_reserved : ∀ name ∈ reserved, Text.isUpperName name = false := by decide

section Ruled

variable {s : Settings}

theorem Ruled.allows_eq (h : Ruled s) (name : String) : allows s name = .ok (lists s name) := by
  obtain ⟨listed, ha⟩ := h.container name
  simp only [lists, ha]

/-- A listed name is none of those that stand for the object itself. -/
theorem Ruled.not_reserved (h : Ruled s) {name : String} (hl : lists s name = true) :
    name ∉ reserved := fun hm => by
  have upper := h.upper name hl
  simp [not_upper_of_reserved name hm] at upper

theorem Ruled.not_intrinsic (h : Ruled s) {name : String} (hl : lists s name = true) :
    name ∉ intrinsic := fun hm => by
  have inside : ∀ other ∈ intrinsic, other ∈ reserved := by decide
  exact h.not_reserved hl (inside name hm)

/-- Settings stay ruled under a name that is neither the list nor the conversion. -/
theorem Ruled.put (h : Ruled s) {name : String} (hm : name ≠ "MODIFIABLE_SETTINGS")
    (hc : name ≠ "_coerce") (v : Value) : Ruled (Table.put s name v) := by
  have list := Table.get?_put_of_ne s (Ne.symm hm) v
  have same := lists_congr list
  refine ⟨⟨fun other => ?_, fun other => ?_, ?_⟩, ?_⟩
  · obtain ⟨listed, ha⟩ := h.container other
    exact ⟨listed, by simpa only [allows, get, list] using ha⟩
  · rw [same]
    exact h.upper other
  · rw [same]
    exact h.itself
  · exact (Table.get?_put_of_ne s (Ne.symm hc) v).trans h.plain

theorem Ruled.put_listed (h : Ruled s) {name : String} (hl : lists s name = true) (v : Value) :
    Ruled (Table.put s name v) ∧ ∀ other, lists (Table.put s name v) other = lists s other := by
  have list : name ≠ "MODIFIABLE_SETTINGS" := by
    rintro rfl
    simp [h.itself] at hl
  have plain : name ≠ "_coerce" := by
    rintro rfl
    exact h.not_reserved hl (by decide)
  exact ⟨h.put list plain v, lists_congr (Table.get?_put_of_ne s (Ne.symm list) v)⟩

/-- **What one entry does.** -/
theorem Ruled.applyEntry_eq (h : Ruled s) (name : String) (v : Value) :
    applyEntry s name v = match attempt s name v with
      | none => .ok (s, answer s name v)
      | some (.ok w) => .ok (Table.put s name w, answer s name v)
      | some (.error f) =>
        if isConversionFault f then .ok (s, answer s name v) else .error f := by
  cases hl : lists s name with
  | false =>
    by_cases known : answersTo s name = true
    · simp [applyEntry, known, h.allows_eq, hl, answer, attempt]
    · simp [applyEntry, known, answer, attempt, hl]
  | true =>
    have hr := h.not_reserved hl
    have hi := h.not_intrinsic hl
    cases ho : Table.get? s name with
    | none =>
      have unknown : answersTo s name = false := by simp [answersTo, Table.has, ho, hr]
      simp [applyEntry, unknown, answer, attempt, ho]
    | some old =>
      have known : answersTo s name = true := by simp [answersTo, Table.has, ho]
      have value : converted s name v = convert old v := by simp [converted, h.plain, ho, hi]
      have place (w : Value) : change s name w = .ok (Table.put s name w) := by
        simp only [intrinsic, List.mem_cons, List.not_mem_nil, or_false, not_or] at hi
        simp [change, hi]
      simp only [applyEntry, known, h.allows_eq, hl, value, attempt, ho]
      cases hc : convert old v with
      | ok w => simp [Except.bind, place, Except.map, answer, attempt, hl, ho, hc]
      | error f => simp [Except.bind, answer, attempt, hl, ho, hc]

theorem lists_of_attempt {name : String} {v : Value} {r : Except Fault Value}
    (h : attempt s name v = some r) : lists s name = true := by
  by_contra hl
  simp [attempt, hl] at h

/-- **One entry ends the loading, or it is answered and settles its own name only.** -/
theorem Ruled.applyEntry_cases (hs : Ruled s) (name : String) (v : Value) :
    (∃ f, attempt s name v = some (.error f) ∧ isConversionFault f = false ∧
      applyEntry s name v = .error f) ∨
    (Answerable s name v ∧ ∃ t, applyEntry s name v = .ok (t, answer s name v) ∧ Ruled t ∧
      (∀ other, lists t other = lists s other) ∧
      ∀ other, Table.get? t other = mergedValue s [(name, v)] other) := by
  have step := hs.applyEntry_eq name v
  cases hc : attempt s name v with
  | none =>
    have none : ∀ w, attempt s name v ≠ some (.ok w) := by simp [hc]
    refine .inr ⟨fun f hf => by simp [hc] at hf, s, by simpa [hc] using step, hs, fun _ => rfl,
      fun other => ?_⟩
    exact (mergedValue_untouched v none other).symm
  | some x =>
    cases x with
    | ok w =>
      obtain ⟨ruled, same⟩ := hs.put_listed (lists_of_attempt hc) w
      refine .inr ⟨fun f hf => by simp [hc] at hf, Table.put s name w, by simpa [hc] using step,
        ruled, same, fun other => ?_⟩
      by_cases own : other = name
      · simp [own, mergedValue, Table.get?_cons, hc]
      · rw [mergedValue_single s own, Table.get?_put_of_ne s own]
    | error f =>
      have none : ∀ w, attempt s name v ≠ some (.ok w) := by simp [hc]
      by_cases tolerated : isConversionFault f = true
      · refine .inr ⟨fun g hg => ?_, s, by simpa [hc, tolerated] using step, hs, fun _ => rfl,
          fun other => ?_⟩
        · cases hc.symm.trans hg
          exact tolerated
        · exact (mergedValue_untouched v none other).symm
      · exact .inl ⟨f, rfl, by simpa using tolerated, by simpa [hc, tolerated] using step⟩

/-- **All entries: one of them ends the loading, or each is answered by its record and settles its
    own name.** -/
theorem Ruled.applyAll_cases (hs : Ruled s) {entries : Table Value} (hn : entries.names.Nodup) :
    (∃ name v f, (name, v) ∈ entries ∧ attempt s name v = some (.error f) ∧
      isConversionFault f = false ∧ (applyAll s entries).result = .error f) ∨
    ((∀ name v, (name, v) ∈ entries → Answerable s name v) ∧
      ∃ t, applyAll s entries = ⟨entries.map fun e => answer s e.1 e.2, .ok t⟩ ∧
        ∀ other, Table.get? t other = mergedValue s entries other) := by
  induction entries generalizing s with
  | nil => exact .inr ⟨by simp, s, rfl, fun other => rfl⟩
  | cons e rest ih =>
    obtain ⟨name, v⟩ := e
    obtain ⟨fresh, hr⟩ := List.nodup_cons.1 hn
    obtain ⟨f, hc, hf, he⟩ | ⟨tolerated, t, he, ht, hl, own⟩ := hs.applyEntry_cases name v
    · exact .inl ⟨name, v, f, List.mem_cons_self, hc, hf, by simp [applyAll, he]⟩
    · -- the later entries have other names, and what these were is what they are
      have kept : ∀ other w, (other, w) ∈ rest → Table.get? t other = Table.get? s other := by
        intro other w hw
        have hm : other ∈ Table.names rest := List.mem_map_of_mem hw
        have differs : other ≠ name := fun same => fresh (same ▸ hm)
        exact (own other).trans (mergedValue_single s differs v)
      obtain ⟨other, w, f, hw, hc, hf, ended⟩ | ⟨all, u, ended, settles⟩ := ih ht hr
      · refine .inl ⟨other, w, f, List.mem_cons_of_mem _ hw, ?_, hf, by simp [applyAll, he, ended]⟩
        exact attempt_congr w (hl other) (kept other w hw) ▸ hc
      · refine .inr ⟨fun other w hw => ?_, u, ?_, fun other => ?_⟩
        · rcases List.mem_cons.1 hw with same | hw
          · cases same
            exact tolerated
          · intro f hf
            exact all other w hw f ((attempt_congr w (hl other) (kept other w hw)).trans hf)
        · have answers : rest.map (fun e => answer t e.1 e.2) = rest.map fun e => answer s e.1 e.2 :=
            List.map_congr_left fun e he => answer_congr e.2 (hl e.1) (kept e.1 e.2 he)
          simp [applyAll, he, ended, answers]
        · exact (settles other).trans (mergedValue_cons v fresh hl own other)

end Ruled

end Settings

end Respawn
